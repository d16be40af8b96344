import Mathlib.Algebra.Ring.Int.Defs
import Mathlib.Algebra.Ring.Nat
import Mathlib.Data.List.DropRight
import Whereabouts.GeoJson.Layers

/-!
# The numbers of a feature

A number of a feature is a JSON number, or a text in which it is written with decimal digits.

* `Decimal.Writes`, `Decimal.WritesInt`: the texts that write a number.
* `GeoJson.tagNat?_eq_some_iff`: the number of a tag.
* `GeoJson.level?_eq_some_iff`: the level of a feature.
* `GeoJson.numericId?_eq_some_iff`: the number that identifies a feature.
-/

namespace Whereabouts

namespace Decimal

/-- Characters that are the digits of a number, perhaps with zeros in front. -/
structure Spells (cs : List Char) (n : Nat) : Prop where
  ne_nil : cs ≠ []
  all_digits : cs.all Char.isDigit = true
  value : digitsValue cs = n

/-- A text that writes a natural number, perhaps with a plus sign in front. -/
inductive Writes (s : String) (n : Nat) : Prop where
  | plain :
    Spells s.toList n →
    Writes s n
  | plus {cs} :
    s.toList = '+' :: cs →
    Spells cs n →
    Writes s n

/-- A text that writes an integer. -/
inductive WritesInt (s : String) : Int → Prop where
  | natural {n : Nat} :
    Writes s n →
    WritesInt s n
  | minus {cs} {n : Nat} :
    s.toList = '-' :: cs →
    Spells cs n →
    WritesInt s (-n)

/-- What begins with another character spells no number. -/
lemma not_spells_cons {c : Char} {cs : List Char} {n : Nat} (other : c.isDigit = false) :
    ¬ Spells (c :: cs) n := by
  intro digits
  have all := digits.all_digits
  rw [List.all_cons, other] at all
  cases all

/-- A list of characters spells its value where it is not empty and holds digits only. -/
lemma spells_digitsValue_iff {cs : List Char} :
    Spells cs (digitsValue cs) ↔ ¬ (cs = [] ∨ (!cs.all Char.isDigit) = true) := by
  rw [not_or, Bool.not_eq_true', Bool.not_eq_false]
  exact ⟨fun spells => ⟨spells.ne_nil, spells.all_digits⟩, fun ⟨ne_nil, all⟩ => ⟨ne_nil, all, rfl⟩⟩

/-- What spells a number is not empty and holds digits only. -/
lemma Spells.fine {cs : List Char} {n : Nat} (spells : Spells cs n) :
    ¬ (cs = [] ∨ (!cs.all Char.isDigit) = true) :=
  spells_digitsValue_iff.1 (spells.value.symm ▸ spells)

variable {s : String} {n : Nat}

/-- With a plus sign a text writes the number that the rest spells. -/
lemma writes_iff_of_plus {cs : List Char} (e : s.toList = '+' :: cs) : Writes s n ↔ Spells cs n := by
  constructor
  · rintro (spells | ⟨e', spells⟩)
    · exact absurd (e ▸ spells) (not_spells_cons rfl)
    · cases e.symm.trans e'
      exact spells
  · exact .plus e

/-- Without a plus sign a text writes the number that it spells. -/
lemma writes_iff_of_not_plus (other : ∀ cs, s.toList ≠ '+' :: cs) :
    Writes s n ↔ Spells s.toList n := by
  constructor
  · rintro (spells | ⟨e, -⟩)
    · exact spells
    · exact absurd e (other _)
  · exact .plain

/-- A natural number is read from the texts that write it, below the bound. -/
lemma natural?_eq_some_iff {bound : Nat} :
    natural? bound s = some n ↔ Writes s n ∧ n < bound := by
  have read (cs : List Char) : (if cs = [] ∨ (!cs.all Char.isDigit) = true then none
      else if digitsValue cs < bound then some (digitsValue cs) else none) = some n ↔
      Spells cs n ∧ n < bound := by
    constructor
    · intro there
      split at there
      next => cases there
      next fine =>
        split at there
        next lt =>
          cases there
          exact ⟨spells_digitsValue_iff.2 fine, lt⟩
        next => cases there
    · rintro ⟨spells, lt⟩
      rw [if_neg spells.fine, spells.value, if_pos lt]
  refine (read _).trans (and_congr_left fun _ => ?_)
  split
  next e => exact (writes_iff_of_plus e).symm
  next other => exact (writes_iff_of_not_plus other).symm

/-- What is left of a text that writes an integer when its sign is taken away. -/
lemma writesInt_iff {i : Int} {negative : Bool} {cs : List Char}
    (sign : takeSign s.toList = (negative, cs)) :
    WritesInt s i ↔ ∃ n : Nat, Spells cs n ∧ i = if negative then -(n : Int) else n := by
  unfold takeSign at sign
  split at sign
  next cs' e =>
    cases sign
    constructor
    · rintro (written | ⟨e', spells⟩)
      · rw [writes_iff_of_not_plus fun _ e' => by cases e.symm.trans e'] at written
        exact absurd (e ▸ written) (not_spells_cons rfl)
      · cases e.symm.trans e'
        exact ⟨_, spells, rfl⟩
    · rintro ⟨n, spells, rfl⟩
      exact .minus e spells
  next cs' e =>
    cases sign
    constructor
    · rintro (written | ⟨e', -⟩)
      · exact ⟨_, (writes_iff_of_plus e).1 written, rfl⟩
      · cases e.symm.trans e'
    · rintro ⟨n, spells, rfl⟩
      exact .natural (.plus e spells)
  next not_minus not_plus =>
    cases sign
    constructor
    · rintro (written | ⟨e', -⟩)
      · exact ⟨_, (writes_iff_of_not_plus not_plus).1 written, rfl⟩
      · exact absurd e' (not_minus _)
    · rintro ⟨n, spells, rfl⟩
      exact .natural (.plain spells)

/-- An integer of 64 bits is read from the texts that write it. -/
lemma integer?_eq_some_iff {i : Int} :
    integer? s = some i ↔ WritesInt s i ∧ -2 ^ 63 ≤ i ∧ i < 2 ^ 63 := by
  have two_pow : Nat.pow 2 63 = 2 ^ 63 := rfl
  unfold integer?
  cases sign : takeSign s.toList with
  | mk negative cs =>
    rw [writesInt_iff sign, two_pow]
    dsimp only
    constructor
    · intro there
      split at there
      next => cases there
      next fine =>
        have spells := spells_digitsValue_iff.2 fine
        cases negative with
        | true =>
          obtain ⟨le, ⟨⟩⟩ := Option.ite_none_right_eq_some.1 there
          exact ⟨⟨_, spells, rfl⟩, by omega, by omega⟩
        | false =>
          obtain ⟨lt, ⟨⟩⟩ := Option.ite_none_right_eq_some.1 there
          exact ⟨⟨_, spells, rfl⟩, by omega, by omega⟩
    · rintro ⟨⟨n, spells, rfl⟩, le, lt⟩
      rw [if_neg spells.fine, spells.value]
      cases negative with
      | true => exact Option.ite_none_right_eq_some.2 ⟨by simp at le; omega, rfl⟩
      | false => exact Option.ite_none_right_eq_some.2 ⟨by simp at lt; omega, rfl⟩

/-- A text that writes an integer holds digits and a sign only. -/
lemma WritesInt.mem {i : Int} (written : WritesInt s i) {c : Char} (mem : c ∈ s.toList) :
    c.isDigit = true ∨ c = '+' ∨ c = '-' := by
  cases written with
  | natural written =>
    cases written with
    | plain spells => exact .inl (List.all_eq_true.1 spells.all_digits c mem)
    | plus e spells =>
      rw [e] at mem
      rcases List.mem_cons.1 mem with rfl | mem
      · exact .inr (.inl rfl)
      · exact .inl (List.all_eq_true.1 spells.all_digits c mem)
  | minus e spells =>
    rw [e] at mem
    rcases List.mem_cons.1 mem with rfl | mem
    · exact .inr (.inr rfl)
    · exact .inl (List.all_eq_true.1 spells.all_digits c mem)

/-- A written integer has no slash. -/
lemma WritesInt.no_slash {i : Int} (written : WritesInt s i) : '/' ∉ s.toList := by
  intro mem
  rcases written.mem mem with digit | sign | sign
  · cases digit
  · cases sign
  · cases sign

end Decimal

/-- A level is that of a number where it has this number. -/
lemma Level.ofNumber?_eq_some_iff {n : Nat} {level : Level} :
    Level.ofNumber? n = some level ↔ n = level.number := by
  constructor
  · intro there
    have e := List.find?_some there
    exact (eq_of_beq e).symm
  · rintro rfl
    exact level.ofNumber?_number

namespace GeoJson

open Json (Members)

variable {tags : Members} {key : String}

/-- The natural number that a tag holds or writes. -/
inductive TagNat (tags : Members) (key : String) (n : Nat) : Prop where
  | number :
    tags.get? key = some (.number (.int n)) →
    TagNat tags key n
  | text {s} :
    tags.get? key = some (.string s) →
    Decimal.Writes (Text.trim s) n →
    n < 2 ^ 64 →
    TagNat tags key n

/-- The number of a tag is the one that it holds or writes. -/
lemma tagNat?_eq_some_iff {n : Nat} : tagNat? tags key = some n ↔ TagNat tags key n := by
  have two_pow : Nat.pow 2 64 = 2 ^ 64 := rfl
  unfold tagNat?
  constructor
  · intro there
    split at there
    next number e =>
      cases number with
      | int i =>
        obtain ⟨le, there⟩ := Option.ite_none_right_eq_some.1 there
        refine .number (e.trans ?_)
        rw [← Option.some.inj there, Int.toNat_of_nonneg le]
      | float => cases there
    next s e =>
      obtain ⟨written, lt⟩ := Decimal.natural?_eq_some_iff.1 there
      exact .text e written lt
    next => cases there
  · rintro (e | ⟨e, written, lt⟩)
    · rw [e]
      exact Option.ite_none_right_eq_some.2 ⟨Int.natCast_nonneg n, congrArg some (Int.toNat_natCast n)⟩
    · rw [e]
      exact Decimal.natural?_eq_some_iff.2 ⟨written, lt⟩

/-- The level of a feature is the one whose number `admin_level` holds or writes. -/
lemma level?_eq_some_iff {level : Level} :
    level? tags = some level ↔ TagNat tags "admin_level" level.number := by
  have small : level.number < 256 := by cases level <;> decide
  rw [← tagNat?_eq_some_iff]
  constructor
  · intro there
    obtain ⟨n, tag, there⟩ := Option.bind_eq_some_iff.1 there
    obtain ⟨-, there⟩ := Option.ite_none_right_eq_some.1 there
    rw [tag, Level.ofNumber?_eq_some_iff.1 there]
  · intro tag
    refine Option.bind_eq_some_iff.2 ⟨_, tag, ?_⟩
    rw [if_pos small, Level.ofNumber?_number]

/-- A text that ends in a number, which a slash parts from the rest. -/
inductive EndsIn (id : Int) : String → Prop where
  | whole {s} :
    Decimal.WritesInt s id →
    EndsIn id s
  | slash {before s} :
    Decimal.WritesInt s id →
    EndsIn id (before ++ "/" ++ s)

/-- What follows the last slash of a text. -/
def lastPart (cs : List Char) : List Char := cs.rtakeWhile (· != '/')

/-- Where there is no slash, every character is none. -/
lemma passes_of_no_slash {cs : List Char} (no_slash : '/' ∉ cs) : ∀ c ∈ cs, (c != '/') = true :=
  fun _ mem => bne_iff_ne.2 fun e => no_slash (e ▸ mem)

/-- The last part of a path is what comes after its last slash. -/
lemma lastPart_append (before : List Char) {last : List Char} (no_slash : '/' ∉ last) :
    lastPart (before ++ '/' :: last) = last := by
  unfold lastPart List.rtakeWhile
  rw [List.reverse_append, List.reverse_cons, List.append_assoc, List.takeWhile_append_of_pos
    fun c mem => passes_of_no_slash no_slash c (List.mem_reverse.1 mem)]
  simp

/-- A path without a slash is its own last part. -/
lemma lastPart_of_no_slash {cs : List Char} (no_slash : '/' ∉ cs) : lastPart cs = cs :=
  List.rtakeWhile_eq_self_iff.2 (passes_of_no_slash no_slash)

/-- A text is its last part, or ends in a slash and that part. -/
lemma eq_lastPart_or (cs : List Char) :
    cs = lastPart cs ∨ ∃ before, cs = before ++ '/' :: lastPart cs := by
  have parts : cs.rdropWhile (· != '/') ++ lastPart cs = cs := List.rdropWhile_append_rtakeWhile
  by_cases only : cs.rdropWhile (· != '/') = []
  · rw [only] at parts
    exact .inl parts.symm
  · have slash := List.rdropWhile_last_not (· != '/') cs only
    rw [Bool.not_eq_true, bne_eq_false_iff_eq] at slash
    rw [← List.dropLast_append_getLast only, slash, List.append_assoc] at parts
    exact .inr ⟨_, parts.symm⟩

/-- The number in a text is the one in which it ends. -/
lemma numberIn?_eq_some_iff {s : String} {id : Int} :
    numberIn? s = some id ↔ EndsIn id s ∧ -2 ^ 63 ≤ id ∧ id < 2 ^ 63 := by
  have read : numberIn? s = Decimal.integer? (String.ofList (lastPart s.toList)) := rfl
  rw [read, Decimal.integer?_eq_some_iff]
  refine and_congr_left fun _ => ?_
  constructor
  · intro written
    rcases eq_lastPart_or s.toList with e | ⟨before, e⟩
    · rw [← e, String.ofList_toList] at written
      exact .whole written
    · have parts : s = String.ofList before ++ "/" ++ String.ofList (lastPart s.toList) := by
        rw [← String.toList_inj, e]
        simp [← e]
      rw [parts]
      exact .slash written
  · rintro (written | written)
    · rw [lastPart_of_no_slash written.no_slash, String.ofList_toList]
      exact written
    · rw [String.toList_append, String.toList_append, List.append_assoc]
      rw [show "/".toList = ['/'] from rfl, List.singleton_append,
        lastPart_append _ written.no_slash, String.ofList_toList]
      exact written

/-- The number in the tag `osm_id`. -/
inductive OsmId (tags : Members) (id : Int) : Prop where
  | text {s} :
    tags.get? "osm_id" = some (.string s) →
    EndsIn id s →
    -2 ^ 63 ≤ id ∧ id < 2 ^ 63 →
    OsmId tags id
  | number :
    tags.get? "osm_id" = some (.number (.int id)) →
    id < 2 ^ 63 →
    OsmId tags id

/-- The number of a feature: in its own name, else in the tag `osm_id`, else in the tag `id`. -/
inductive Numbered (f : Feature) (id : Int) : Prop where
  | number :
    f.id = some (.number (.int id)) →
    id < 2 ^ 63 →
    Numbered f id
  | text {s} :
    f.id = some (.text s) →
    EndsIn id s →
    -2 ^ 63 ≤ id ∧ id < 2 ^ 63 →
    Numbered f id
  | osm :
    f.id = none →
    OsmId f.tags id →
    Numbered f id
  | tag :
    f.id = none →
    (∀ other, ¬ OsmId f.tags other) →
    f.tags.get? "id" = some (.number (.int id)) →
    id < 2 ^ 63 →
    Numbered f id

variable {id : Int}

/-- A number is a signed one of 64 bits where it is an integer of this size. -/
lemma int64?_eq_some_iff {n : Json.Number} :
    n.int64? = some id ↔ n = .int id ∧ id < 2 ^ 63 := by
  cases n with
  | int i =>
    have two_pow : ((Nat.pow 2 63 : Nat) : Int) = 2 ^ 63 := rfl
    constructor
    · intro there
      obtain ⟨lt, ⟨⟩⟩ := Option.ite_none_right_eq_some.1 there
      exact ⟨rfl, two_pow ▸ lt⟩
    · rintro ⟨⟨⟩, lt⟩
      exact if_pos (two_pow ▸ lt)
  | float => exact ⟨nofun, nofun⟩

/-- A tag has an integer where its value is one of 64 bits. -/
lemma tagInt?_eq_some_iff :
    (((tags.get? key).bind Json.number?).bind (·.int64?)) = some id ↔
      tags.get? key = some (.number (.int id)) ∧ id < 2 ^ 63 := by
  cases tags.get? key with
  | none => exact ⟨nofun, nofun⟩
  | some value =>
    cases value with
    | number n =>
      refine int64?_eq_some_iff.trans (and_congr_left fun _ => ?_)
      rw [Option.some_inj, Json.number.injEq]
    | _ => exact ⟨nofun, nofun⟩

/-- The number in the tag `osm_id` is written in its text or is the number that it holds. -/
lemma osmId_iff : ((tagText? tags "osm_id").bind numberIn?).or
    (((tags.get? "osm_id").bind Json.number?).bind (·.int64?)) = some id ↔ OsmId tags id := by
  unfold tagText?
  cases e : tags.get? "osm_id" with
  | none =>
    refine ⟨nofun, ?_⟩
    rintro (e' | e') <;> cases e.symm.trans e'
  | some value =>
    cases value with
    | string s =>
      -- an empty text is no tag, and no number is written in it
      have read : (if s.isEmpty then none else some s).bind numberIn? = numberIn? s := by
        split
        next empty =>
          rw [String.isEmpty_iff.1 empty]
          rfl
        next => rfl
      show ((if s.isEmpty then none else some s).bind numberIn?).or none = some id ↔ _
      rw [read, Option.or_none, numberIn?_eq_some_iff]
      constructor
      · rintro ⟨ends, range⟩
        exact .text e ends range
      · rintro (⟨e', ends, range⟩ | e')
        · cases e.symm.trans e'
          exact ⟨ends, range⟩
        · cases e.symm.trans e'
    | number n =>
      refine int64?_eq_some_iff.trans ?_
      constructor
      · rintro ⟨rfl, lt⟩
        exact .number e lt
      · rintro (e' | ⟨e', lt⟩)
        · cases e.symm.trans e'
        · cases e.symm.trans e'
          exact ⟨rfl, lt⟩
    | _ =>
      refine ⟨nofun, ?_⟩
      rintro (e' | e') <;> cases e.symm.trans e'

/-- The number of a feature is the one in its name or in its tags. -/
lemma numericId?_eq_some_iff {f : Feature} : numericId? f = some id ↔ Numbered f id := by
  unfold numericId?
  cases e : f.id with
  | some name =>
    cases name with
    | number n =>
      refine int64?_eq_some_iff.trans ?_
      constructor
      · rintro ⟨rfl, lt⟩
        exact .number e lt
      · rintro (⟨e', lt⟩ | e' | e' | e')
        · cases e.symm.trans e'
          exact ⟨rfl, lt⟩
        all_goals cases e.symm.trans e'
    | text s =>
      refine numberIn?_eq_some_iff.trans ?_
      constructor
      · rintro ⟨ends, range⟩
        exact .text e ends range
      · rintro (e' | ⟨e', ends, range⟩ | e' | e')
        · cases e.symm.trans e'
        · cases e.symm.trans e'
          exact ⟨ends, range⟩
        all_goals cases e.symm.trans e'
  | none =>
    constructor
    · intro there
      rcases Option.or_eq_some_iff.1 there with osm | ⟨no_osm, tag⟩
      · exact .osm e (osmId_iff.1 osm)
      · obtain ⟨tag, lt⟩ := tagInt?_eq_some_iff.1 tag
        refine .tag e (fun other osm => ?_) tag lt
        cases no_osm.symm.trans (osmId_iff.2 osm)
    · rintro (e' | e' | ⟨-, osm⟩ | ⟨-, no_osm, tag, lt⟩)
      · cases e.symm.trans e'
      · cases e.symm.trans e'
      · exact Option.or_eq_some_iff.2 (.inl (osmId_iff.2 osm))
      · refine Option.or_eq_some_iff.2 (.inr ⟨?_, tagInt?_eq_some_iff.2 ⟨tag, lt⟩⟩)
        exact Option.eq_none_iff_forall_not_mem.2 fun other osm => no_osm other (osmId_iff.1 osm)

end GeoJson

end Whereabouts
